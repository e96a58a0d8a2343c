import SecretScan.Severity

/-!
Settings of a scan. Any value is accepted; sanitizing replaces what makes no sense by a default or
the nearest sensible value, and leaves sensible settings alone.
-/

namespace SecretScan

structure CustomPattern where
  name : Text
  regex : Text
  severity : Severity
  ruleId : Option Text
  description : Option Text
deriving DecidableEq, Repr

namespace CustomPattern

/-- The key of the pattern at a place in the list, counted from zero: its rule id when that is not
blank, else a key made from the place. -/
def key (index : Nat) (p : CustomPattern) : Text :=
  match p.ruleId.map Text.trim with
  | some (c :: rest) => c :: rest
  | _ => "custom_".toList ++ Text.ofNat (index + 1)

end CustomPattern

/-- The settings of a scan. Disabled keys switch signatures off, built-in and custom ones alike;
tokens that contain one of the allowed texts have no high entropy. -/
structure ScanOptions where
  filename : Option Text := none
  disabled : List Text := []
  maxIterations : Nat := 1000
  entropyThreshold : Float := 4.5
  minTokenLength : Nat := 20
  maxTokenLength : Nat := 100
  allowed : List Text := ["example".toList, "test".toList, "demo".toList]
  enableEntropy : Bool := true
  customPatterns : List CustomPattern := []

namespace ScanOptions

def leastIterations : Nat := 1

def mostIterations : Nat := 10000

def defaultIterations : Nat := 1000

def defaultThreshold : Float := 4.5

def defaultMinLength : Nat := 20

def defaultMaxLength : Nat := 100

def wholePart (x : Float) : Nat :=
  x.toUInt64.toNat

def iterationsOf (raw : Option Float) : Nat :=
  match raw with
  | none => defaultIterations
  | some x =>
    if x.isNaN then defaultIterations
    else if x < Float.ofNat leastIterations then leastIterations
    else if x > Float.ofNat mostIterations then mostIterations
    else wholePart x

def thresholdOf (raw : Option Float) : Float :=
  match raw with
  | some x => if x.isFinite && x > 0.0 then x else defaultThreshold
  | none => defaultThreshold

def tokenLengthOf (raw : Option Float) (otherwise : Nat) : Nat :=
  match raw with
  | some x => if x.isFinite && x ≥ 1.0 then wholePart x else otherwise
  | none => otherwise

def cleanAllowed (allowed : List Text) : List Text :=
  (allowed.map fun s => Text.toLowercase (Text.trim s)).filter (!·.isEmpty)

def sanitized (o : ScanOptions) : ScanOptions :=
  let shortest := if o.minTokenLength == 0 then defaultMinLength else o.minTokenLength
  { o with
    maxIterations := max leastIterations (min mostIterations o.maxIterations)
    entropyThreshold := thresholdOf (some o.entropyThreshold)
    minTokenLength := shortest
    maxTokenLength := max o.maxTokenLength shortest
    allowed := cleanAllowed o.allowed }

def isEnabled (o : ScanOptions) (key : Text) : Bool :=
  !o.disabled.contains key

end ScanOptions

end SecretScan
