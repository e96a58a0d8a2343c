import SecretScan.Finding

/-!
Detectors look at a text line by line and keep nothing in mind between two lines.
-/

namespace SecretScan

/-- A named way of finding secrets in a line with a given number. -/
structure Detector where
  name : Text
  scanLine : Text → Nat → ScanReport

namespace Detector

def numbered (content : Text) : List (Text × Nat) :=
  (Text.lines content).zipIdx 1

def scanText (d : Detector) (content : Text) : ScanReport :=
  .concat ((numbered content).map fun (line, number) => d.scanLine line number)

end Detector

end SecretScan
