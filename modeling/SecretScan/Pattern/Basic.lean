import SecretScan.Pattern.Meaning
import SecretScan.Pattern.Plan

/-!
Compiled patterns and the search for their matches. A search starts at a position of a line, but
looks at the whole line: what stands before the position still decides about line starts and word
boundaries.
-/

namespace SecretScan

structure Match where
  start : Nat
  stop : Nat
  slots : Slots
deriving DecidableEq, Repr

namespace Match

def group? (m : Match) (index : Nat) : Option (Nat × Nat) :=
  match m.slots.lookup (2 * index), m.slots.lookup (2 * index + 1) with
  | some start, some stop => some (start, stop)
  | _, _ => none

end Match

def Text.slice (line : Text) (start stop : Nat) : Text :=
  (line.drop start).take (stop - start)

structure Pattern where
  source : Text
  groups : Nat
  plan : Plan
deriving DecidableEq

namespace Pattern

def sizeLimit : Nat := 10485760

def compile (source : Text) : Except PatternError Pattern := do
  let (tree, groups) ← PatternTree.parse source
  let (expr, _) ← Expr.ofTree {} tree
  if sizeLimit < expr.size then .error (.tooLarge sizeLimit)
  else .ok ⟨source, groups, (Plan.number false expr 0).1⟩

def matchFrom? (p : Pattern) (line : Text) (position : Nat) : Option Match :=
  if line.length < position then none
  else
    let cursor := (Cursor.start line).forward position
    (p.plan.searchFrom cursor.rest.length cursor ∅).map fun (start, stop, slots) =>
      ⟨start, stop, slots⟩

def isMatch (p : Pattern) (line : Text) : Bool :=
  (p.matchFrom? line 0).isSome

end Pattern

end SecretScan
