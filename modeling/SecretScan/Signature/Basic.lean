import SecretScan.Pattern.Basic
import SecretScan.Severity

/-!
Signatures: what a kind of secret looks like, and how a finding of it is described.
-/

namespace SecretScan

structure Signature where
  key : Text
  name : Text
  severity : Severity
  description : Text
  pattern : Pattern

namespace Signature

structure Definition where
  key : Text
  name : Text
  severity : Severity
  description : Text
  pattern : Text

def Definition.compile (d : Definition) : Except PatternError Signature :=
  (Pattern.compile d.pattern).map fun p => ⟨d.key, d.name, d.severity, d.description, p⟩

end Signature

end SecretScan
