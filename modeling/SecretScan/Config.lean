import SecretScan.FileTree.Workspace
import SecretScan.Options
import SecretScan.Selection.Rules
import SecretScan.Settings.Document
import SecretScan.Text.Utf8

/-!
Configuration of the scanner: the `keyscan` table of a settings file. Keys that are not known are
passed over, and so are numbers that are none; any other value of the wrong kind spoils the file.
The file in force is the nearest one above the place where a scan starts.
-/

namespace SecretScan

/-- A number in a configuration: not given, given by a value that is no number, or a number. -/
inductive NumberSetting where
  | missing
  | unusable
  | value (x : Float)

namespace NumberSetting

def toFloat? : NumberSetting → Option Float
  | .value x => some x
  | _ => none

end NumberSetting

/-- The configuration of the scanner. No list of includes is not the same as an empty one. -/
structure Config where
  include? : Option (List Text) := none
  exclude : List Text := []
  disabled : List Text := []
  maxIterations : NumberSetting := .missing
  entropyThreshold : NumberSetting := .missing
  minTokenLength : NumberSetting := .missing
  maxTokenLength : NumberSetting := .missing
  allowed? : Option (List Text) := none
  enableEntropy : Bool := true
  useDefaultExcludes : Bool := true
  patterns : List CustomPattern := []

namespace Config

def scanOptions (c : Config) : ScanOptions :=
  let base : ScanOptions := {}
  ScanOptions.sanitized
    { disabled := c.disabled
      maxIterations := ScanOptions.iterationsOf c.maxIterations.toFloat?
      entropyThreshold := ScanOptions.thresholdOf c.entropyThreshold.toFloat?
      minTokenLength :=
        ScanOptions.tokenLengthOf c.minTokenLength.toFloat? ScanOptions.defaultMinLength
      maxTokenLength :=
        ScanOptions.tokenLengthOf c.maxTokenLength.toFloat? ScanOptions.defaultMaxLength
      allowed := c.allowed?.getD base.allowed
      enableEntropy := c.enableEntropy
      customPatterns := c.patterns }

def selectionRules (c : Config) : SelectionRules :=
  let rules : SelectionRules := { include? := c.include?, exclude := c.exclude }
  if c.useDefaultExcludes then rules.withDefaultExcludes else rules

inductive Fields where
  | named (entries : Setting.Entries)
  | placed (items : List Setting)

namespace Fields

def of? : Setting → Option Fields
  | .table _ entries => some (.named entries)
  | .list _ items => some (.placed items)
  | .date => some (.named [])
  | _ => none

def get? : Fields → String → Nat → Option Setting
  | .named entries, name, _ => entries.lookup name.toList
  | .placed items, _, place => items[place]?

def required {α : Type} (f : Fields) (name : String) (place : Nat) (read : Setting → Option α) :
    Option α := do
  read (← f.get? name place)

def orDefault {α : Type} (f : Fields) (name : String) (place : Nat) (otherwise : α)
    (read : Setting → Option α) : Option α :=
  match f.get? name place with
  | some v => read v
  | none => some otherwise

/-- Reads a field that a table may leave out; a list may not. -/
def optional {α : Type} (f : Fields) (name : String) (place : Nat) (read : Setting → Option α) :
    Option (Option α) :=
  match f, f.get? name place with
  | _, some v => (read v).map some
  | .named _, none => some none
  | .placed _, none => none

end Fields

def text? : Setting → Option Text
  | .text s => some s
  | _ => none

def boolean? : Setting → Option Bool
  | .boolean b => some b
  | _ => none

def list? {α : Type} (item : Setting → Option α) : Setting → Option (List α)
  | .list _ items => items.mapM item
  | _ => none

mutual

def isNarrow : Setting → Bool
  | .integer n => -0x8000000000000000 ≤ n && n < 0x10000000000000000
  | .list _ items => allNarrow items
  | .table _ entries => entriesNarrow entries
  | _ => true

def allNarrow : List Setting → Bool
  | [] => true
  | v :: rest => isNarrow v && allNarrow rest

def entriesNarrow : Setting.Entries → Bool
  | [] => true
  | (_, v) :: rest => isNarrow v && entriesNarrow rest

end

def floatOf (n : Int) : Float :=
  if n < 0 then -Float.ofNat n.natAbs else Float.ofNat n.natAbs

/-- Reads a number, which may also be given as text. Whole numbers beyond 64 bits are refused, also
inside of values that are no numbers. -/
def number? (v : Setting) : Option NumberSetting :=
  if !isNarrow v then none
  else match v with
    | .integer n => some (.value (floatOf n))
    | .float x => some (.value x)
    | .text s =>
      match Decimal.read? (Text.trim s) with
      | some x => some (.value x)
      | none => some .unusable
    | _ => some .unusable

/-- Reads a custom pattern. A severity that is none counts as the default one. -/
def pattern? (v : Setting) : Option CustomPattern := do
  let f ← Fields.of? v
  let name ← f.required "name" 0 text?
  let regex ← f.required "regex" 1 text?
  let severity ← f.orDefault "severity" 2 Severity.high.name text?
  let ruleId ← f.optional "rule_id" 3 text?
  let description ← f.optional "description" 4 text?
  let severity := (Severity.parse severity).toOption.getD .high
  some { name, regex, severity, ruleId, description }

def ofSetting? (v : Setting) : Option Config := do
  let f ← Fields.of? v
  let number (name : String) (place : Nat) := do
    return (← f.optional name place number?).getD .missing
  some
    { include? := ← f.optional "include" 0 (list? text?)
      exclude := ← f.orDefault "exclude" 1 [] (list? text?)
      disabled := ← f.orDefault "disabled_signatures" 2 [] (list? text?)
      maxIterations := ← number "max_iterations_per_line" 3
      entropyThreshold := ← number "entropy_threshold" 4
      minTokenLength := ← number "min_token_length" 5
      maxTokenLength := ← number "max_token_length" 6
      allowed? := ← f.optional "allow_token_substrings" 7 (list? text?)
      enableEntropy := ← f.orDefault "enable_entropy" 8 true boolean?
      useDefaultExcludes := ← f.orDefault "use_default_excludes" 9 true boolean?
      patterns := ← f.orDefault "patterns" 10 [] (list? pattern?) }

def ofText? (content : Text) : Option Config := do
  match (← Document.read content).lookup "keyscan".toList with
  | some v => ofSetting? v
  | none => some {}

end Config

inductive ConfigError where
  | unreadable (path : Text) (cause : Text)
  | malformed (path : Text)
deriving DecidableEq, Repr

namespace ConfigError

def message : ConfigError → Text
  | .unreadable path _ => "Failed to read config file ".toList ++ path
  | .malformed path => "Failed to parse config file ".toList ++ path

def description : ConfigError → Text
  | .unreadable path cause => message (.unreadable path cause) ++ ": ".toList ++ cause
  | .malformed path => message (.malformed path)

end ConfigError

structure LoadedConfig where
  config : Config := {}
  file : Option Text := none

namespace LoadedConfig

def fileName : Text := ".keyscan.toml"

def ofFile (w : Workspace) (path : Text) : Except ConfigError LoadedConfig :=
  match w.read path with
  | .error fault => .error (.unreadable path fault.message)
  | .ok content =>
    match Text.Utf8.decode content with
    | .error _ => .error (.unreadable path "stream did not contain valid UTF-8")
    | .ok s =>
      match Config.ofText? s with
      | some config => .ok ⟨config, some path⟩
      | none => .error (.malformed path)

/-- The directories in which the configuration is looked for: the start, or the directory that holds
it when it is a file, and all directories above. -/
def searchPath (w : Workspace) (start : Text) : List Text :=
  let place := w.canonical start
  Path.ancestors (if w.isFile place then (Path.parent? place).getD place else place)

/-- Loads the nearest configuration. The first file that is there is the one, even if it cannot be
used; where there is none everything is as it is by default. -/
def nearest (w : Workspace) (start : Text) : Except ConfigError LoadedConfig :=
  match ((searchPath w start).map (Path.join · fileName)).find? w.isFile with
  | some path => ofFile w path
  | none => .ok {}

end LoadedConfig

end SecretScan
