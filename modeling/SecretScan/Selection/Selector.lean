import SecretScan.Path.Component
import SecretScan.Selection.Rules

/-!
Selection rules bound to the root of a scan. Globs are compared with paths relative to the root, or
to the project that the root lies in.
-/

namespace SecretScan

/-- Rules, the root of the scan, and the relative path from the project to the root. -/
structure Selector where
  root : Text
  offset : Text
  rules : SelectionRules

namespace Selector

def new (root : Text) (rules : SelectionRules) : Selector :=
  ⟨root, [], rules⟩

/-- Compares paths relative to a project directory instead of the root. `resolve` gives the
canonical form of a path, or the path itself where it has none. A root outside the project changes
nothing. -/
def anchoredAt (s : Selector) (resolve : Text → Text) (project : Text) : Selector :=
  match Path.stripBase? (resolve project) (resolve s.root) with
  | some offset => { s with offset := Path.relative (Text.join ['/'] offset) }
  | none => s

def relativePath (s : Selector) (path : Text) : Text :=
  let below := match Path.stripBase? s.root path with
    | some rest => Path.relative (Text.join ['/'] rest)
    | none => Path.relative path
  if s.offset.isEmpty then below
  else if below.isEmpty then s.offset
  else s.offset ++ '/' :: below

def isSelected (s : Selector) (path : Text) : Bool :=
  s.rules.shouldScan (s.relativePath path)

/-- The directory holds nothing to scan. The root itself is always looked into. -/
def isPruned (s : Selector) (path : Text) : Bool :=
  !Path.same path s.root && s.rules.excludesDirectory (s.relativePath path)

end Selector

end SecretScan
