import SecretScan.Ignore.Level
import SecretScan.Path.Label
import SecretScan.Scanner
import SecretScan.Selection.Selector

/-!
Finding the files to scan below a root. A walk goes through the directories in the order of their
names and passes over what ignore files tell it to ignore; the selection rules then decide about
each file, and about directories that hold nothing to scan. The root itself is neither ignored nor
left out, and links below it are not followed.
-/

namespace SecretScan

/-- A file to scan: the path that opens it and the label that reports show. -/
structure SourceFile where
  path : Text
  label : Text
deriving DecidableEq, Repr

def SourceFile.ofPath (path : Text) : SourceFile :=
  ⟨path, Path.label path⟩

/-- The outcome of a walk: the selected files in order, the number of files that were not selected,
and what went wrong. -/
structure Discovery where
  files : List SourceFile := []
  skipped : Nat := 0
  errors : List FileError := []

namespace Discovery

def append (a b : Discovery) : Discovery :=
  ⟨a.files ++ b.files, a.skipped + b.skipped, a.errors ++ b.errors⟩

instance : Append Discovery := ⟨append⟩

def concat (parts : List Discovery) : Discovery :=
  parts.foldr append {}

def ofFile (selector : Selector) (path : Text) : Discovery :=
  if selector.isSelected path then { files := [.ofPath path] } else { skipped := 1 }

def inOrder (parts : List (Text × Discovery)) : Discovery :=
  concat ((parts.mergeSort fun a b => Text.le a.1 b.1).map (·.2))

end Discovery

/-- What a walk needs to know: the files, the root, the selection rules, whether all kinds of ignore
files count, and the rules of the directories above the root, the innermost first. -/
structure Walk where
  workspace : Workspace
  root : Text
  selector : Selector
  allKinds : Bool
  above : List Ignore.Level

namespace Walk

/-- The path by which the rules above the root know an entry: the canonical root and the way from
there. -/
def outerPath (walk : Walk) (path : Text) : Text :=
  let path := Ignore.stripFront "./".toList path
  let below :=
    if Path.same walk.root ['.'] then path
    else Ignore.stripFront ['/']
      (Ignore.stripFront (Ignore.stripFront "./".toList walk.root) path)
  Path.join (walk.workspace.canonical walk.root) below

/-- The rules ignore the entry. `levels` are those of the directories from the one that holds the
entry up to the root. -/
def isIgnored (walk : Walk) (levels : List Ignore.Level) (path : Text) (isDirectory : Bool) :
    Bool :=
  let inner := levels.map fun level => (level, Ignore.stripFront "./".toList path)
  let outer := walk.above.map fun level => (level, walk.outerPath path)
  Ignore.Level.verdict? (inner ++ outer) isDirectory == some .ignored

def levelOf (walk : Walk) (directory : Text) : Ignore.Level :=
  (Ignore.Level.read walk.workspace walk.allKinds directory).1

mutual

def visit (walk : Walk) (levels : List Ignore.Level) (path : Text) : Entry → Discovery
  | .file _ =>
    if walk.isIgnored levels path false then {} else .ofFile walk.selector path
  | .link _ => {}
  | .directory entries =>
    if walk.isIgnored levels path true || walk.selector.isPruned path then {}
    else .inOrder (visitAll walk (walk.levelOf path :: levels) path entries)

def visitAll (walk : Walk) (levels : List Ignore.Level) (directory : Text) :
    List (Text × Entry) → List (Text × Discovery)
  | [] => []
  | (name, e) :: rest =>
    (name, visit walk levels (Path.join directory name) e) :: visitAll walk levels directory rest

end

def directoriesAbove (w : Workspace) (root : Text) : List Text :=
  if w.isDirectory root then (Path.ancestors (w.canonical root)).drop 1 else []

end Walk

def standardInput : Text := ['-']

def rootError (root : Text) (fault : PathFault) : FileError :=
  ⟨Path.label root,
    root ++ ": IO error for operation on ".toList ++ root ++ ": ".toList ++ fault.message⟩

/-- Finds the files to scan below a root. Faults in the ignore files above the root are reported;
those below it are passed over. -/
def discoverFiles (w : Workspace) (root : Text) (selector : Selector) (allKinds : Bool) :
    Discovery :=
  if Path.same root standardInput then {}
  else
    let outer :=
      if allKinds then (Walk.directoriesAbove w root).map (Ignore.Level.read w true) else []
    let faults := outer.reverse.flatMap (·.2)
    let notice : Discovery :=
      if faults.isEmpty then {}
      else { errors := [⟨Path.label root, Text.join ['\n'] (faults.map (·.message))⟩] }
    let walk : Walk := ⟨w, root, selector, allKinds, outer.map (·.1)⟩
    match w.entry root with
    | .error fault => { errors := [rootError root fault] }
    | .ok (.directory entries) =>
      notice ++ .inOrder (walk.visitAll [walk.levelOf root] root entries)
    | .ok (.file _) => .ofFile selector root
    | .ok (.link _) => {}

end SecretScan
