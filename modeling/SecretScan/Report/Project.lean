import SecretScan.Finding
import SecretScan.Scanner

/-!
The report on a project: what was found in all its files, which files could not be scanned, and how
many were scanned or passed over.
-/

namespace SecretScan

structure ProjectReport where
  findings : List Finding := []
  advisories : List Advisory := []
  errors : List FileError := []
  filesScanned : Nat := 0
  filesSkipped : Nat := 0

namespace ProjectReport

def severityCounts (r : ProjectReport) : List (Severity × Nat) :=
  Severity.all.map fun s => (s, r.findings.countP (·.severity == s))

def greater (a b : Severity) : Severity :=
  if a ≤ b then b else a

def maxSeverity? (r : ProjectReport) : Option Severity :=
  match r.findings.map (·.severity) with
  | [] => none
  | s :: rest => some (rest.foldl greater s)

def reaches (r : ProjectReport) (threshold : Severity) : Bool :=
  r.maxSeverity?.any (threshold ≤ ·)

end ProjectReport

end SecretScan
