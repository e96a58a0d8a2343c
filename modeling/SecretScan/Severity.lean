import SecretScan.Text.Basic
import SecretScan.Text.CaseMap

/-!
The four degrees of risk of a finding, and their names.
-/

namespace SecretScan

inductive Severity where
  | low
  | medium
  | high
  | critical
deriving DecidableEq, Repr

namespace Severity

def all : List Severity :=
  [.critical, .high, .medium, .low]

def rank : Severity → Nat
  | .low => 0
  | .medium => 1
  | .high => 2
  | .critical => 3

instance : LE Severity := ⟨fun a b => a.rank ≤ b.rank⟩

instance : LT Severity := ⟨fun a b => a.rank < b.rank⟩

instance (a b : Severity) : Decidable (a ≤ b) := inferInstanceAs (Decidable (a.rank ≤ b.rank))

instance (a b : Severity) : Decidable (a < b) := inferInstanceAs (Decidable (a.rank < b.rank))

def name : Severity → Text
  | .low => "LOW"
  | .medium => "MEDIUM"
  | .high => "HIGH"
  | .critical => "CRITICAL"

structure Unknown where
  name : Text
deriving DecidableEq, Repr

def Unknown.message (e : Unknown) : Text :=
  "unknown severity '".toList ++ e.name ++ "' (expected LOW, MEDIUM, HIGH or CRITICAL)".toList

def parse (s : Text) : Except Unknown Severity :=
  let wanted := Text.toUppercase (Text.trim s)
  match all.find? (·.name == wanted) with
  | some severity => .ok severity
  | none => .error ⟨wanted⟩

end Severity

end SecretScan
