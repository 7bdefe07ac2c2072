import Mathlib
import TruthFingerprint.Python.Coercions
import TruthFingerprint.Evidence.ManifestBytes
import TruthFingerprint.Evidence.Manifests

/-!
# The identity of a configuration

A configuration is identified by a view of it that leaves secrets out. A YAML file is scanned line
by line: a stack holds the keys that are open at the indentation of a line, and below a key that
names a secret everything is skipped. Of an entry of an environment whose key is not approved, the
view shows the key alone, or that the line holds a marker of a secret.
-/

namespace TruthFingerprint.Evidence

open Python (isSpace strip)

namespace Configuration

/-! ## Texts -/

/-- `str.lower`, as far as ASCII letters come from it -/
def lower (s : Text) : Text :=
  s.flatMap fun c =>
    if h : 0x41 ≤ c.val ∧ c.val ≤ 0x5a then [⟨c.val + 0x20, c.lower_lt h⟩]
    else match c.val with
      | 0x130 => text "i" ++ [0x307]
      | 0x212a => text "k"
      | _ => [c]

/-- `str.upper` of ASCII letters -/
def upper (s : Text) : Text :=
  s.map fun c => if h : 0x61 ≤ c.val ∧ c.val ≤ 0x7a then ⟨c.val - 0x20, by omega⟩ else c

def lstrip (s : Text) : Text := s.dropWhile isSpace

def rstrip (s : Text) : Text := (s.reverse.dropWhile isSpace).reverse

/-- The characters that end a line -/
def isLineBreak (c : CodePoint) : Bool :=
  (0x0a ≤ c.val && c.val ≤ 0x0d) || (0x1c ≤ c.val && c.val ≤ 0x1e) || c.val = 0x85 ||
    c.val = 0x2028 || c.val = 0x2029

/-- `str.splitlines`; a carriage return and a line feed end one line. -/
def splitlines : Text → List Text
  | [] => []
  | [c] => if isLineBreak c then [[]] else [[c]]
  | c :: d :: t =>
    if c.val = 0x0d ∧ d.val = 0x0a then [] :: splitlines t
    else if isLineBreak c then [] :: splitlines (d :: t)
    else match splitlines (d :: t) with
      | [] => [[c]]
      | line :: lines => (c :: line) :: lines

def isLetter (c : CodePoint) : Bool :=
  (0x41 ≤ c.val && c.val ≤ 0x5a) || (0x61 ≤ c.val && c.val ≤ 0x7a)

def isKeyStart (c : CodePoint) : Bool := isLetter c || c = '_'.codePoint

def isKeyChar (c : CodePoint) : Bool := isKeyStart c || JsonText.isDigit c || c = '-'.codePoint

/-! ## Secrets -/

def secretMarkers : List Text :=
  [text "password", text "secret", text "token", text "credential", text "private",
    text "access_key", text "validator", text "node_key"]

def approvedConfigKeys : List Text :=
  [text "PROJECT_NAME", text "PYTHONPATH", text "MQTT_TRANSPORT", text "MQTT_BROKER_HOST",
    text "MQTT_BROKER_PORT", text "MQTT_TOPIC", text "COMETBFT_RPC_URL", text "DEMO_STEPS",
    text "DEMO_CYCLE_INTERVAL_SECONDS", text "DEMO_MAX_CYCLES",
    text "DEMO_TRAIN_AFTER_ELIGIBLE_CYCLES", text "DEMO_FINGERPRINT_SEQUENCE_LENGTH",
    text "DEMO_POWER", text "DEMO_DASHBOARD_HOST", text "DEMO_DASHBOARD_PORT",
    text "DEMO_SCENARIO", text "DEMO_SCENARIO_START_CYCLE", text "DEMO_FAULT_MODE",
    text "DEMO_FAULTY_EDGES", text "DEMO_SCADA_MODE", text "DEMO_SCADA_START_CYCLE",
    text "DEMO_SCADA_OFFSET_VALUE", text "MINIO_ENDPOINT", text "MINIO_BUCKET",
    text "MINIO_SECURE", text "KERAS_BACKEND", text "LSTM_SERVICE_HOST",
    text "LSTM_SERVICE_PORT"]

def safeComposeValueKeys : List Text :=
  [text "image", text "build", text "container_name", text "hostname", text "restart",
    text "ports", text "volumes", text "networks", text "depends_on", text "profiles"]

/-- `_contains_secret_marker` -/
def containsSecretMarker (value : Text) : Bool :=
  let normalized := (lower value).map fun c => if c = '-'.codePoint then '_'.codePoint else c
  secretMarkers.any (contains · normalized)

/-- What `urlsplit` makes of a URL -/
structure SplitUrl where
  scheme : Text
  hostname : Option Text
  username : Option Text
  password : Option Text
  query : Text
  fragment : Text

/-- `urlsplit`, which may raise -/
abbrev UrlSplitter := Text → Option SplitUrl

def SplitUrl.isSafe (url : SplitUrl) : Bool :=
  url.scheme ∈ [text "http", text "https"] && url.hostname.isSome && url.username.isNone &&
    url.password.isNone && url.query.isEmpty && url.fragment.isEmpty

/-- `_is_safe_approved_config_value` -/
def isSafeApprovedConfigValue (urlsplit : UrlSplitter) (key value : Text) : Option Bool :=
  if value.isEmpty || containsSecretMarker value || contains (text "$\x7b") value then some false
  else if key = text "COMETBFT_RPC_URL" then (urlsplit value).map (·.isSafe)
  else some !([text "@", text "://", text "\\"].any (contains · value))

def isQuote (c : CodePoint) : Bool := c = '\''.codePoint || c = '"'.codePoint

/-- `_is_safe_compose_scalar` -/
def isSafeComposeScalar (value : Text) : Bool :=
  let candidate := (((strip value).dropWhile isQuote).reverse.dropWhile isQuote).reverse
  !candidate.isEmpty && !(containsSecretMarker candidate || contains (text "$\x7b") candidate ||
    contains (text "://") candidate || contains (text "@") candidate ||
    contains (text "\\") candidate || candidate.any (·.val < 32))

/-- The key carries a marker, or it is not approved. -/
def isRedactedKey (key : Text) : Bool :=
  containsSecretMarker (upper key) || upper key ∉ approvedConfigKeys

/-! ## The patterns -/

/-- A key, spaces and the separator: the key and what follows -/
def matchKey (start rest separator : CodePoint → Bool) (s : Text) : Option (Text × Text) :=
  let key := s.takeWhile rest
  if key.head?.any start then
    match lstrip (s.drop key.length) with
    | c :: value => if separator c then some (key, value) else none
    | [] => none
  else none

/-- `^-\s*([A-Za-z_][A-Za-z0-9_-]*)\s*=\s*(.*)$` -/
def listEnvironment : Text → Option (Text × Text)
  | [] => none
  | c :: t =>
    if c = '-'.codePoint then
      (matchKey isKeyStart isKeyChar (· = '='.codePoint) (lstrip t)).map fun m => (m.1, lstrip m.2)
    else none

/-- `^(?:-\s*)?([A-Za-z_][A-Za-z0-9_-]*)\s*:` and what follows it -/
def keyMatch : Text → Option (Text × Text)
  | [] => none
  | c :: t =>
    let s := if c = '-'.codePoint then lstrip t else c :: t
    matchKey isKeyStart isKeyChar (· = ':'.codePoint) s

/-- `^\s*([A-Za-z][A-Za-z0-9_]*)\s*(?:=|:)\s*(.*?)\s*$` -/
def plainEntry (line : Text) : Option (Text × Text) :=
  (matchKey isLetter (fun c => isLetter c || JsonText.isDigit c || c = '_'.codePoint)
    (fun c => c = '='.codePoint || c = ':'.codePoint) (lstrip line)).map fun m => (m.1, strip m.2)

/-! ## The scan -/

structure Scan where
  safeLines : List Text
  redactedKeys : List Text
  redactedIndent : Option Nat
  context : List (Nat × Text)

namespace Scan

def start : Scan := ⟨[], [], none, []⟩

def keep (s : Scan) (rawLine : Text) : Scan :=
  { s with safeLines := s.safeLines ++ [rstrip rawLine] }

def redact (s : Scan) (key : Text) : Scan := { s with redactedKeys := s.redactedKeys ++ [key] }

/-- Skip what is indented more. -/
def skipBelow (s : Scan) (indentation : Nat) : Scan := { s with redactedIndent := some indentation }

def openKey (s : Scan) (indentation : Nat) (key : Text) : Scan :=
  { s with context := (indentation, key) :: s.context }

/-- The line is skipped. -/
def skips (s : Scan) (indentation : Nat) : Bool := s.redactedIndent.any (· < indentation)

/-- The keys that are still open at an indentation -/
def close (s : Scan) (indentation : Nat) : Scan :=
  { s with
    redactedIndent := none
    context := s.context.dropWhile fun entry => indentation ≤ entry.1 }

def parentKey (s : Scan) : Text := (s.context.head?.map Prod.snd).getD []

end Scan

def environmentKey : Text := text "environment"

def inlineSecretMarker : Text := text "INLINE_SECRET_MARKER"

def indentationOf (rawLine : Text) : Nat := (rawLine.takeWhile isSpace).length

section Scanner

variable (urlsplit : UrlSplitter)

/-- An entry of an environment: its line is safe, or its key is redacted. -/
def environmentEntry (s : Scan) (rawLine key value : Text) : Option Scan :=
  if upper key ∈ approvedConfigKeys then
    (isSafeApprovedConfigValue urlsplit (upper key) value).map fun safe =>
      if safe then s.keep rawLine else s.redact (upper key)
  else some (s.redact (upper key))

/-- `KEY=value` in the list of an environment -/
def listEntry (s : Scan) (rawLine key value : Text) : Option Scan :=
  if containsSecretMarker (upper key) then some (s.redact (upper key))
  else environmentEntry urlsplit s rawLine key value

/-- A key with a value, below the key that is open -/
def valueEntry (s : Scan) (rawLine key value : Text) : Option Scan :=
  if s.parentKey = environmentKey then environmentEntry urlsplit s rawLine key value
  else if lower key ∈ safeComposeValueKeys && isSafeComposeScalar value then some (s.keep rawLine)
  else some (s.redact (upper key))

def scalarItem (s : Scan) (rawLine stripped : Text) : Scan :=
  if stripped.head? = some '-'.codePoint ∧
      s.parentKey ∈ [text "ports", text "volumes", text "networks", text "profiles"] ∧
      isSafeComposeScalar (strip (stripped.drop 1)) then s.keep rawLine
  else s

/-- A line that is no entry of the list of an environment -/
def keyedLine (s : Scan) (rawLine stripped : Text) : Option Scan :=
  let indentation := indentationOf rawLine
  match keyMatch stripped with
  | some (key, rest) =>
    if containsSecretMarker key then some ((s.redact (upper key)).skipBelow indentation)
    else if containsSecretMarker stripped then some (s.redact inlineSecretMarker)
    else if (strip rest).isEmpty then some ((s.keep rawLine).openKey indentation (lower key))
    else valueEntry urlsplit s rawLine key (strip rest)
  | none =>
    if containsSecretMarker stripped then some (s.redact inlineSecretMarker)
    else some (scalarItem s rawLine stripped)

def openLine (s : Scan) (rawLine stripped : Text) : Option Scan :=
  match listEnvironment stripped with
  | some (key, value) =>
    if s.parentKey = environmentKey then listEntry urlsplit s rawLine key value
    else keyedLine urlsplit s rawLine stripped
  | none => keyedLine urlsplit s rawLine stripped

/-- Nothing is on the line, or a comment. -/
def isBlank (stripped : Text) : Bool := stripped.isEmpty || stripped.head? = some '#'.codePoint

/-- The body of the loop over the lines -/
def scanLine (s : Scan) (rawLine : Text) : Option Scan :=
  let stripped := strip rawLine
  let indentation := indentationOf rawLine
  if isBlank stripped || s.skips indentation then some s
  else openLine urlsplit (s.close indentation) rawLine stripped

/-- The names in order, each once -/
def sortedNames (names : List Text) : List Text := names.dedup.insertionSort (· ≤ ·)

def textsDoc (texts : List Text) : Python.Value Unit := .arr (texts.map .str)

def composeView (locator : Text) (s : Scan) : Python.Value Unit :=
  .obj [(text "locator", .str locator), (text "safe_compose_lines", textsDoc s.safeLines),
    (text "redacted_keys", textsDoc (sortedNames s.redactedKeys))]

/-- The approved values and the redacted keys of a file that is not YAML -/
structure PlainScan where
  approved : List (Text × Text)
  redactedKeys : List Text

def plainLine (s : PlainScan) (line : Text) : Option PlainScan :=
  match plainEntry line with
  | none => some s
  | some (key, value) =>
    if isRedactedKey key then some s
    else (isSafeApprovedConfigValue urlsplit (upper key) value).map fun safe =>
      if safe then
        { s with approved := s.approved.filter (·.1 ≠ upper key) ++ [(upper key, value)] }
      else { s with redactedKeys := s.redactedKeys ++ [upper key] }

def plainView (locator : Text) (s : PlainScan) : Python.Value Unit :=
  .obj [(text "locator", .str locator),
    (text "approved", .obj (s.approved.map fun entry => (entry.1, .str entry.2))),
    (text "redacted_keys", textsDoc (s.redactedKeys.insertionSort (· ≤ ·)))]

/-- `canonical_json_bytes` -/
def canonicalJsonBytes (document : Python.Value Unit) : Option Bytes :=
  if Encodable document then
    some (Text.utf8 (JsonText.render (JsonText.escapeWith isPlain)
      (document.sortKeys.map Python.Number.literal id)))
  else none

structure Identity where
  digest : Option Text
  size : Option Nat
  status : Text
deriving DecidableEq

def isYaml (suffix : Text) : Bool := lower suffix ∈ [text ".yml", text ".yaml"]

/-- The view that identifies the lines of a configuration -/
def identityView (suffix locator : Text) (lines : List Text) : Option (Python.Value Unit) :=
  if isYaml suffix then (lines.foldlM (scanLine urlsplit) .start).map (composeView locator)
  else (lines.foldlM (plainLine urlsplit) ⟨[], []⟩).map (plainView locator)

/-- `_configuration_identity` of a file with a suffix and a content, if that can be read -/
def configurationIdentity (suffix locator : Text) (content : Option Text) : Option Identity :=
  match content with
  | none => some ⟨none, none, text "unverifiable"⟩
  | some content => do
    let view ← identityView urlsplit suffix locator (splitlines content)
    let payload ← canonicalJsonBytes view
    some ⟨some (bytesId payload), some payload.length, text "verified"⟩

end Scanner

end Configuration

end TruthFingerprint.Evidence
