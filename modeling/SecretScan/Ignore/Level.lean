import SecretScan.FileTree.Workspace
import SecretScan.Ignore.Rules

/-!
The ignore files in force. Every directory can have four of them: the scanner's own, the general
one, that of the version control and the private one inside its directory. A file deeper in the tree
goes before one further up, and a kind named earlier goes before all later kinds. Version control
rules count where a directory, or one above it, is under version control, and no further up than
the innermost such directory.
-/

namespace SecretScan.Ignore

/-- The rules of one directory, by kind, and whether it is the top of a version control tree. -/
structure Level where
  own : Rules
  general : Rules
  control : Rules
  exclusion : Rules
  isTop : Bool

namespace Level

def rulesOf (w : Workspace) (directory file : Text) : Rules × List FileFault :=
  match w.read file with
  | .ok content =>
    let (rules, faults) := Rules.ofContent file content
    (⟨directory, rules⟩, faults)
  | .error _ => (Rules.none directory, [])

def firstLine (w : Workspace) (file : Text) : Except (List FileFault) Text :=
  match w.read file with
  | .ok content =>
    match Rules.readableLines content with
    | line :: _ => .ok line
    | [] => .error (if content.isEmpty then [] else [⟨file, none, .notText⟩])
  | .error .isDirectory => .error [⟨file, none, .isDirectory⟩]
  | .error _ => .error []

/-- The directory that holds the private rules. A file instead of a version control directory names
a directory, which in turn names the common one. -/
def controlDirectory (w : Workspace) (directory : Text) : Except (List FileFault) Text :=
  let control := Path.join directory ".git".toList
  if !w.isFile control then .ok control
  else do
    let line ← firstLine w control
    if !"gitdir: ".toList.isPrefixOf line then .error []
    else
      let named := line.drop 8
      let common ← firstLine w (Path.join named "commondir".toList)
      .ok (if common.head? == some '.' then Path.join named common else common)

/-- The rules of a directory and the faults in them. Without `all` only the scanner's own file
counts. -/
def read (w : Workspace) (all : Bool) (directory : Text) : Level × List FileFault :=
  let file (name : String) := rulesOf w directory (Path.join directory name.toList)
  let (own, ownFaults) := file ".keyscanignore"
  if !all then
    (⟨own, .none directory, .none directory, .none directory, false⟩, ownFaults)
  else
    let (general, generalFaults) := file ".ignore"
    let (control, controlFaults) := file ".gitignore"
    let (exclusion, exclusionFaults) := match controlDirectory w directory with
      | .ok place => rulesOf w directory (Path.join place "info/exclude".toList)
      | .error faults => (.none directory, faults)
    (⟨own, general, control, exclusion, w.pathExists (Path.join directory ".git".toList)⟩,
      ownFaults ++ generalFaults ++ controlFaults ++ exclusionFaults)

/-- The levels up to and including the innermost top of a version control tree; none where there is
no top. -/
def underControl (levels : List (Level × Text)) : List (Level × Text) :=
  if levels.any (·.1.isTop) then
    levels.takeWhile (!·.1.isTop) ++ (levels.find? (·.1.isTop)).toList
  else []

def verdict? (levels : List (Level × Text)) (isDirectory : Bool) : Option Verdict :=
  let first (kind : Level → Rules) (levels : List (Level × Text)) :=
    levels.findSome? fun (level, path) => (kind level).verdict? path isDirectory
  first own levels <|> first general levels <|> first control (underControl levels) <|>
    first exclusion (underControl levels)

end Level

end SecretScan.Ignore
