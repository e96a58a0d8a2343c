import SecretScan.Decimal.Fixed
import SecretScan.Redaction
import SecretScan.Report.Json
import SecretScan.Report.Project
import SecretScan.Report.Table

/-!
Reports as text and as JSON. Secrets are redacted in both; the entropy of a finding is written with
nine decimal places, beyond which its digits depend on the order of summation.
-/

namespace SecretScan.Report

def location (f : Finding) : Text :=
  let place := f.fileKey ++ ':' :: Text.ofNat f.line
  match f.column with
  | some column => place ++ ':' :: Text.ofNat column
  | none => place

def findingRow (f : Finding) : List Text :=
  [f.ruleId, f.kind, location f, f.severity.name, Redaction.redact f.matched]

def findingsText (findings : List Finding) : Text :=
  if findings.isEmpty then []
  else
    "\nSecrets\n".toList ++
      Table.draw (["Rule", "Type", "Location", "Severity", "Match"].map String.toList)
        (findings.map findingRow)

def advisoriesText (advisories : List Advisory) : Text :=
  if advisories.isEmpty then []
  else
    "\nAdvisories\n".toList ++
      advisories.flatMap fun a => "  [WARN] ".toList ++ a.message ++ ['\n']

def summaryText (r : ProjectReport) : Text :=
  let counts := r.severityCounts.map fun (s, n) => s.name ++ ": ".toList ++ Text.ofNat n
  '\n' :: Text.join [' ', ' '] counts ++ "\nScanned ".toList ++ Text.ofNat r.filesScanned ++
    " files (".toList ++ Text.ofNat r.filesSkipped ++ " skipped, ".toList ++
    Text.ofNat r.errors.length ++ " errors)\n".toList

def signaturesText (signatures : List Signature) : Text :=
  Table.draw (["Key", "Name", "Severity", "Description"].map String.toList)
    (signatures.map fun s => [s.key, s.name, s.severity.name, s.description])

def natValue (n : Nat) : JsonValue :=
  .number (Text.ofNat n)

def optionalField (name : String) (value : Option JsonValue) : List (Text × JsonValue) :=
  (value.map fun v => (name.toList, v)).toList

def findingValue (f : Finding) : JsonValue :=
  .object <|
    [("type".toList, .text f.kind), ("rule_id".toList, .text f.ruleId),
     ("line".toList, natValue f.line)] ++
    optionalField "column" (f.column.map natValue) ++
    [("matched_text".toList, .text (Redaction.redact f.matched)),
     ("line_content".toList, .text f.content), ("description".toList, .text f.description),
     ("severity".toList, .text f.severity.name)] ++
    optionalField "file" (f.file.map .text) ++
    optionalField "entropy" (f.entropy.map fun x => .number (Decimal.fixed 9 x))

def advisoryValue (a : Advisory) : JsonValue :=
  .object <|
    [("rule_id".toList, .text a.ruleId), ("line".toList, natValue a.line),
     ("limit".toList, natValue a.limit)] ++
    optionalField "file" (a.file.map .text)

def errorValue (e : FileError) : JsonValue :=
  .object [("file".toList, .text e.file), ("message".toList, .text e.message)]

def countsValue (r : ProjectReport) : JsonValue :=
  .object <| ((r.severityCounts.map fun (s, n) => (s.name, n)).mergeSort
    fun a b => Text.le a.1 b.1).map fun (name, n) => (name, natValue n)

def reportValue (r : ProjectReport) : JsonValue :=
  .object
    [("findings".toList, .list (r.findings.map findingValue)),
     ("advisories".toList, .list (r.advisories.map advisoryValue)),
     ("errors".toList, .list (r.errors.map errorValue)),
     ("summary".toList, .object
       [("total".toList, natValue r.findings.length),
        ("files_scanned".toList, natValue r.filesScanned),
        ("files_skipped".toList, natValue r.filesSkipped),
        ("by_severity".toList, countsValue r)])]

def jsonText (r : ProjectReport) : Text :=
  (reportValue r).render 0 ++ ['\n']

end SecretScan.Report
