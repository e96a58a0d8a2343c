import SecretScan.CommandLine.Overrides
import SecretScan.Project
import SecretScan.Report.Render
import SecretScan.Text.Listing

/-!
A run of the command line over a workspace. It yields what is printed, what is told on the side, and
the exit code; or the error that stops it, which only a configuration named in the arguments can
cause.
-/

namespace SecretScan

structure RunOutcome where
  exit : Except ConfigError Nat
  output : Text
  diagnostics : Text

namespace CommandLine

def programName : Text := "keyscan"

def version : Text := "0.4.1"

def helpText : Text :=
  Text.join ['\n'] <|
    ["keyscan - Fast secret detection for source trees",
     "",
     "Usage: keyscan [OPTIONS] [PATHS]...",
     "",
     "Arguments:",
     "  [PATHS]...  Files or directories to scan; the current directory where none is given",
     "",
     "Options:",
     "      --config <FILE>            Configuration file, instead of the nearest one",
     "      --include <INCLUDE>        Scan only files that match; may be repeated",
     "      --exclude <EXCLUDE>        Leave out files that match; may be repeated",
     "      --no-default-excludes      Leave out nothing by default",
     "      --no-gitignore             Do not read .gitignore files",
     "      --disable <KEY>            Switch off a signature; may be repeated",
     "      --max-iterations <N>       Most matches of a signature on one line",
     "      --entropy-threshold <X>    Least entropy of a token that is reported",
     "      --min-token-length <N>     Least length of such a token",
     "      --max-token-length <N>     Greatest length of such a token",
     "      --allow <S>                Pass over tokens that contain a text; may be repeated",
     "      --no-entropy               Do not look for tokens of high entropy",
     "      --json                     Print the report in JSON",
     "  -v, --verbose                  Tell about the course of the scan",
     "      --fail-on <SEV>            Least severity that makes the exit code 1",
     "      --strict                   Exit with code 2 if a file could not be scanned",
     "      --list-signatures          Print the built-in signatures",
     "  -h, --help                     Print help",
     "  -V, --version                  Print version",
     ""].map String.toList

def line (s : Text) : Text :=
  s ++ ['\n']

/-- The exit code of a scan: 2 if it has to be complete and is not, 1 if a finding is as severe as
the threshold, else 0. -/
def exitCode (r : ProjectReport) (strict : Bool) (failOn : Severity) : Nat :=
  if strict && !r.errors.isEmpty then 2 else if r.reaches failOn then 1 else 0

/-- The configuration in force and what is told about it. The nearest one is passed over if it
cannot be used; one that the arguments name may not fail. -/
def configuration (w : Workspace) (a : Arguments) (start : Text) :
    Except ConfigError (LoadedConfig × Text) :=
  match a.config with
  | some path => (LoadedConfig.ofFile w path).map fun loaded => (loaded, [])
  | none =>
    match LoadedConfig.nearest w start with
    | .ok loaded => .ok (loaded, [])
    | .error e =>
      .ok ({}, if a.json then [] else line ("[WARN] Ignoring config: ".toList ++ e.description))

def settingsText (o : ScanOptions) (rules : SelectionRules) (file : Option Text) : Text :=
  let disabled := o.disabled.eraseDups.mergeSort Text.le
  line ("[VERBOSE] keyscan v".toList ++ version) ++
  line "[VERBOSE] Using 1 threads" ++
  line ("[VERBOSE] Config: ".toList ++ file.getD "defaults".toList) ++
  line "[VERBOSE] Configuration:" ++
  line ("   Max iterations per line: ".toList ++ Text.ofNat o.maxIterations) ++
  line ("   Entropy: ".toList ++ (if o.enableEntropy then "true" else "false").toList ++
    " (threshold ".toList ++ Decimal.fixed 2 o.entropyThreshold ++ ", tokens ".toList ++
    Text.ofNat o.minTokenLength ++ "..=".toList ++ Text.ofNat o.maxTokenLength ++ [')']) ++
  (if disabled.isEmpty then []
    else line ("   Disabled signatures: ".toList ++ Text.showList disabled)) ++
  line ("   Include: ".toList ++ Text.showList? rules.include?) ++
  line ("   Exclude: ".toList ++ Text.showList rules.exclude) ++
  line []

def directoryOf (file : Text) : Option Text :=
  (Path.parent? file).map fun directory => if directory.isEmpty then ['.'] else directory

def withFaults (r : ProjectReport) (faults : List Finding) : ProjectReport :=
  if faults.isEmpty then r
  else { r with findings := Finding.consolidate (r.findings ++ faults) }

def reportText (r : ProjectReport) (json : Bool) : Text :=
  if json then Report.jsonText r
  else
    Report.findingsText r.findings ++ Report.advisoriesText r.advisories ++ Report.summaryText r

def scan (w : Workspace) (a : Arguments) (paths : List Text) : RunOutcome :=
  match configuration w a (paths.headD ['.']) with
  | .error e => ⟨.error e, [], []⟩
  | .ok (loaded, warning) =>
    let o := a.scanOptions loaded.config
    let rules := a.selectionRules loaded.config
    let verbose := a.verbose && !a.json
    let label := match loaded.file with
      | some file => Path.label file
      | none => "<cli>"
    let faults := validateCustomPatterns o label
    let scanner : ProjectScanner :=
      { ProjectScanner.new o rules with
        allKinds := !a.noGitignore
        projectRoot := loaded.file.bind directoryOf }
    let scan := scanner.scan w paths
    let report := withFaults scan.report faults
    let told (shown : Bool) (mark : String) (lines : List Text) : Text :=
      if shown then lines.flatMap fun s => line (mark.toList ++ s) else []
    { exit := .ok (exitCode report a.strict (a.failOn.getD .low))
      output := reportText report a.json
      diagnostics :=
        warning ++ (if verbose then settingsText o rules loaded.file else []) ++
        told (!a.json) "[WARN] " (faults.map (·.description)) ++
        told verbose "[VERBOSE] " scan.notices ++
        told true "[ERROR] " (report.errors.map (·.message)) }

/-- Does what the arguments ask for. Paths that lead nowhere are refused before anything else. -/
def runArguments (w : Workspace) (a : Arguments) : RunOutcome :=
  if a.listSignatures then ⟨.ok 0, Report.signaturesText Signature.builtin, []⟩
  else
    let paths := if a.paths.isEmpty then [['.']] else a.paths
    match paths.find? (!w.pathExists ·) with
    | some missing => ⟨.ok 2, [], line ("[ERROR] Path not found: ".toList ++ missing)⟩
    | none => scan w a paths

def run (w : Workspace) (arguments : List Text) : RunOutcome :=
  match Arguments.read arguments with
  | .error e => ⟨.ok 2, [], e.message⟩
  | .ok .help => ⟨.ok 0, helpText, []⟩
  | .ok .version => ⟨.ok 0, line (programName ++ ' ' :: version), []⟩
  | .ok (.run a) => runArguments w a

end CommandLine

end SecretScan
