import SecretScan.Config
import SecretScan.Discovery
import SecretScan.Report.Project
import SecretScan.Text.Binary

/-!
Scanning a project: the files below some roots are gathered, every file has one outcome, and the
outcomes are merged into one report. Findings, advisories and errors are put in an order that does
not depend on the order in which files are scanned.
-/

namespace SecretScan

inductive FileOutcome where
  | scanned (report : ScanReport)
  | binary
  | failed (error : FileError)

namespace FileOutcome

def report? : FileOutcome → Option ScanReport
  | .scanned report => some report
  | _ => none

def error? : FileOutcome → Option FileError
  | .failed error => some error
  | _ => none

def isBinary : FileOutcome → Bool
  | .binary => true
  | _ => false

def ofBytes (scanner : Scanner) (label : Text) (bytes : List UInt8) : FileOutcome :=
  if Text.looksBinary bytes then .binary
  else match scanner.scanBytes bytes (some label) with
    | .ok report => .scanned report
    | .error e => .failed e.toFileError

def ofFile (scanner : Scanner) (w : Workspace) (file : SourceFile) : FileOutcome :=
  match w.read file.path with
  | .ok bytes => ofBytes scanner file.label bytes
  | .error fault => .failed (ScanError.unreadable file.label fault.message).toFileError

end FileOutcome

/-- Advisories are ordered by file and then by line; those without a file come first. -/
def Advisory.le (a b : Advisory) : Bool :=
  match a.file, b.file with
  | none, some _ => true
  | some _, none => false
  | none, none => a.line ≤ b.line
  | some x, some y => if x == y then a.line ≤ b.line else Text.le x y

def FileError.le (a b : FileError) : Bool :=
  Text.le a.file b.file

def ProjectReport.ofOutcomes (skipped : Nat) (errors : List FileError)
    (outcomes : List FileOutcome) : ProjectReport :=
  let reports := outcomes.filterMap (·.report?)
  { findings := Finding.consolidate (reports.flatMap (·.findings))
    advisories := (reports.flatMap (·.advisories)).mergeSort Advisory.le
    errors := (errors ++ outcomes.filterMap (·.error?)).mergeSort FileError.le
    filesScanned := reports.length
    filesSkipped := skipped + outcomes.countP (·.isBinary) }

/-- How a project is scanned: the detection settings, the selection rules, the directory that globs
are relative to when it is not the root of a scan, and whether all kinds of ignore files count. -/
structure ProjectScanner where
  options : ScanOptions
  rules : SelectionRules
  projectRoot : Option Text := none
  allKinds : Bool := true

namespace ProjectScanner

def new (options : ScanOptions) (rules : SelectionRules) : ProjectScanner :=
  { options := options.sanitized, rules }

def ofConfig (c : Config) : ProjectScanner :=
  new c.scanOptions c.selectionRules

def default : ProjectScanner :=
  new {} (SelectionRules.withDefaultExcludes {})

def selector (s : ProjectScanner) (w : Workspace) (root : Text) : Selector :=
  match s.projectRoot with
  | some project => (Selector.new root s.rules).anchoredAt w.canonical project
  | none => Selector.new root s.rules

end ProjectScanner

/-- The files of a root. A root that is a file is taken as it is. -/
structure Gathered where
  root : Text
  isFile : Bool
  found : Discovery

structure ProjectScan where
  gathered : List Gathered
  outcomes : List (SourceFile × FileOutcome)

namespace ProjectScanner

def gather (s : ProjectScanner) (w : Workspace) (root : Text) : Gathered :=
  if w.isFile root then ⟨root, true, { files := [.ofPath root] }⟩
  else ⟨root, false, discoverFiles w root (s.selector w root) s.allKinds⟩

def scan (s : ProjectScanner) (w : Workspace) (roots : List Text) : ProjectScan :=
  let scanner := Scanner.ofOptions s.options
  let gathered := roots.map (s.gather w)
  let files := gathered.flatMap (·.found.files)
  ⟨gathered, files.map fun file => (file, .ofFile scanner w file)⟩

end ProjectScanner

namespace ProjectScan

def report (scan : ProjectScan) : ProjectReport :=
  .ofOutcomes (scan.gathered.foldl (fun n g => n + g.found.skipped) 0)
    (scan.gathered.flatMap (·.found.errors)) (scan.outcomes.map (·.2))

def notices (scan : ProjectScan) : List Text :=
  ((scan.gathered.filter fun g => !g.isFile).map fun g =>
    g.root ++ ": ".toList ++ Text.ofNat g.found.files.length ++ " files selected, ".toList ++
      Text.ofNat g.found.skipped ++ " skipped".toList) ++
  ((scan.outcomes.filter fun (_, outcome) => outcome.isBinary).map fun (file, _) =>
    "Skipping binary file ".toList ++ file.label)

end ProjectScan

end SecretScan
