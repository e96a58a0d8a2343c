import SecretScan.Path.Label
import SecretScan.Selection.Wildcard

/-!
Globs over paths. Path and glob are compared segment by segment in relative form; two stars as a
segment stand for any number of segments, and all other wildcards stay within one segment. The
answers for pairs of a rest of the glob and a rest of the path are kept in a table, so that several
double stars cost no more than the size of the table.
-/

namespace SecretScan.Glob

def anyDepth : Text := ['*', '*']

abbrev Table := Array (Option Bool)

/-- The place of a pair of rests in the table, for a path of `width - 1` segments. -/
def slot (width : Nat) (glob path : List Text) : Nat :=
  glob.length * width + path.length

def emptyTable (glob path : List Text) : Table :=
  Array.replicate ((glob.length + 1) * (path.length + 1)) none

def anyRest (visit : List Text → Table → Bool × Table) : List Text → Table → Bool × Table
  | [], table => visit [] table
  | s :: path, table =>
    let (found, table) := visit (s :: path) table
    if found then (true, table) else anyRest visit path table

def visit (width : Nat) : List Text → List Text → Table → Bool × Table
  | [], path, table =>
    match table[slot width [] path]?.join with
    | some known => (known, table)
    | none => (path.isEmpty, table.setIfInBounds (slot width [] path) (some path.isEmpty))
  | g :: glob, path, table =>
    match table[slot width (g :: glob) path]?.join with
    | some known => (known, table)
    | none =>
      let (result, table) :=
        if g == anyDepth then
          if glob.isEmpty then (true, table) else anyRest (visit width glob) path table
        else match path with
          | [] => (false, table)
          | s :: rest =>
            if Wildcard.matchesSegment s g then visit width glob rest table else (false, table)
      (result, table.setIfInBounds (slot width (g :: glob) path) (some result))

def matchesSegments (glob path : List Text) : Bool :=
  (visit (path.length + 1) glob path (emptyTable glob path)).1

def accepts (path glob : Text) : Bool :=
  matchesSegments (Path.segments glob) (Path.segments path)

end SecretScan.Glob
