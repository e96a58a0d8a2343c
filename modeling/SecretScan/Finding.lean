import SecretScan.Severity

/-!
What a scan reports: findings, and advisories about lines on which it stopped looking. Findings are
consolidated by dropping repetitions and ordering the rest by file and line.
-/

namespace SecretScan

/-- A detected secret. `kind` is the name of the detector and `ruleId` its key, `matched` the
secret as it stands in the text and `content` the trimmed line around it. Lines and columns count
from one, columns in characters. -/
structure Finding where
  kind : Text
  ruleId : Text
  line : Nat
  column : Option Nat
  matched : Text
  content : Text
  description : Text
  severity : Severity
  file : Option Text
  entropy : Option Float

structure Advisory where
  ruleId : Text
  line : Nat
  limit : Nat
  file : Option Text
deriving DecidableEq, Repr

structure ScanReport where
  findings : List Finding
  advisories : List Advisory

namespace Finding

def fileKey (f : Finding) : Text :=
  f.file.getD []

def withFile (f : Finding) (file : Text) : Finding :=
  { f with file := some file }

/-- Two findings repeat each other when they agree on file, detector name, line and matched text.
The key of the signature does not matter. -/
def repeats (f g : Finding) : Bool :=
  f.line == g.line && f.matched == g.matched && f.kind == g.kind && f.fileKey == g.fileKey

def dedup (findings : List Finding) : List Finding :=
  findings.foldl (fun kept f => if kept.any f.repeats then kept else f :: kept) [] |>.reverse

def le (f g : Finding) : Bool :=
  if f.fileKey == g.fileKey then f.line ≤ g.line else Text.le f.fileKey g.fileKey

def sort (findings : List Finding) : List Finding :=
  findings.mergeSort le

protected theorem le_total (f g : Finding) : (le f g || le g f) = true := by
  have := Text.le_total f.fileKey g.fileKey
  grind [le]

protected theorem le_trans {f g h : Finding} (hfg : le f g = true) (hgh : le g h = true) :
    le f h = true := by
  have := @Text.le_trans f.fileKey g.fileKey h.fileKey
  have := @Text.le_antisymm f.fileKey g.fileKey
  have := @Text.le_antisymm g.fileKey h.fileKey
  grind [le]

theorem sort_perm (findings : List Finding) : (sort findings).Perm findings :=
  List.mergeSort_perm findings le

theorem pairwise_sort (findings : List Finding) :
    (sort findings).Pairwise fun f g => le f g = true :=
  @List.pairwise_mergeSort _ le (fun _ _ _ => Finding.le_trans) Finding.le_total findings

def consolidate (findings : List Finding) : List Finding :=
  sort (dedup findings)

end Finding

namespace Advisory

def message (a : Advisory) : Text :=
  "signature '".toList ++ a.ruleId ++ "' stopped after ".toList ++ Text.ofNat a.limit ++
    match a.file with
    | some file => " matches on ".toList ++ file ++ ':' :: Text.ofNat a.line
    | none => " matches on line ".toList ++ Text.ofNat a.line

end Advisory

namespace ScanReport

def empty : ScanReport := ⟨[], []⟩

def append (a b : ScanReport) : ScanReport :=
  ⟨a.findings ++ b.findings, a.advisories ++ b.advisories⟩

instance : Append ScanReport := ⟨append⟩

def concat (reports : List ScanReport) : ScanReport :=
  ⟨reports.flatMap (·.findings), reports.flatMap (·.advisories)⟩

end ScanReport

end SecretScan
