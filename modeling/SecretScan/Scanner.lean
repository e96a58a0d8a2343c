import SecretScan.Detector.HighEntropy
import SecretScan.Detector.Signatures
import SecretScan.Suppression
import SecretScan.Text.Utf8

/-!
The scanner: all detectors over one text, less what the lines suppress, consolidated. A scanner is
set up once and can be used for any number of texts.
-/

namespace SecretScan

/-- Why a text could not be scanned. A failed read carries the wording of its cause. -/
inductive ScanError where
  | nonText (label : Text) (validUpTo : Nat)
  | unreadable (label : Text) (cause : Text)
deriving DecidableEq, Repr

namespace ScanError

def label : ScanError → Text
  | .nonText label _ => label
  | .unreadable label _ => label

def message : ScanError → Text
  | .nonText label validUpTo =>
    label ++ ": content is not valid UTF-8 text (invalid byte at offset ".toList ++
      Text.ofNat validUpTo ++ ")".toList
  | .unreadable label cause => label ++ ": ".toList ++ cause

def cause? : ScanError → Option Text
  | .nonText _ _ => none
  | .unreadable _ cause => some cause

end ScanError

structure FileError where
  file : Text
  message : Text
deriving DecidableEq, Repr

def ScanError.toFileError (e : ScanError) : FileError :=
  ⟨e.label, e.message⟩

/-- The detectors in the order of their application, and the label of texts that have none. -/
structure Scanner where
  detectors : List Detector
  filename : Option Text

namespace Scanner

/-- The scanner of some options, which are sanitized first. Custom signatures take part when there
are any, and entropy when it is not switched off. -/
def ofOptions (o : ScanOptions) : Scanner :=
  let o := o.sanitized
  let custom := if o.customSignatures.isEmpty then [] else [Detector.custom o]
  let entropy := if o.enableEntropy then [Detector.highEntropy o] else []
  ⟨Detector.builtin o :: (custom ++ entropy), o.filename⟩

def raw (s : Scanner) (content : Text) : ScanReport :=
  .concat (s.detectors.map fun d => d.scanText content)

def suppressions (content : Text) : List (Nat × Suppression) :=
  (Detector.numbered content).filterMap fun (line, number) =>
    (Suppression.ofLine? line).map fun s => (number, s)

def isSuppressed (suppressions : List (Nat × Suppression)) (line : Nat) (ruleId : Text) : Bool :=
  (suppressions.lookup line).any (·.suppresses ruleId)

/-- The report on a text. The label names it in the report; without one the options' file name
does. -/
def scan (s : Scanner) (content : Text) (file : Option Text) : ScanReport :=
  let raw := s.raw content
  let suppressed := isSuppressed (suppressions content)
  let label := file.or s.filename
  let kept := raw.findings.filter fun f => !suppressed f.line f.ruleId
  let labelled := match label with
    | some label => kept.map (·.withFile label)
    | none => kept
  { findings := Finding.consolidate labelled
    advisories := (raw.advisories.filter fun a => !suppressed a.line a.ruleId).map
      fun a => { a with file := label } }

def scanBytes (s : Scanner) (bytes : List UInt8) (file : Option Text) :
    Except ScanError ScanReport :=
  match Text.Utf8.decode bytes with
  | .ok content => .ok (s.scan content file)
  | .error validUpTo => .error (.nonText ((file.or s.filename).getD "<input>".toList) validUpTo)

end Scanner

def scanText (content : Text) (o : ScanOptions) : ScanReport :=
  (Scanner.ofOptions o).scan content none

def scanBytes (bytes : List UInt8) (o : ScanOptions) : Except ScanError ScanReport :=
  (Scanner.ofOptions o).scanBytes bytes none

def CustomPattern.faultFinding (index : Nat) (p : CustomPattern) (fault : PatternError)
    (configFile : Text) : Finding where
  kind := "Invalid Custom Pattern"
  ruleId := "config_error"
  line := 1
  column := none
  matched := p.regex
  content := []
  description := "Invalid regex for custom pattern '".toList ++ p.name ++ "' (".toList ++
    p.key index ++ "): ".toList ++ fault.message.toList
  severity := .critical
  file := some configFile
  entropy := none

def validateCustomPatterns (o : ScanOptions) (configFile : Text) : List Finding :=
  o.customPatterns.zipIdx.filterMap fun (p, index) =>
    match p.compile index with
    | .ok _ => none
    | .error fault => some (p.faultFinding index fault configFile)

end SecretScan
