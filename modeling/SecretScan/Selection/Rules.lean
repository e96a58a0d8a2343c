import SecretScan.Selection.Glob

/-!
Rules for which files are scanned. Excludes win over includes; without includes every file that is
not excluded is scanned, and with an empty list of includes none is.
-/

namespace SecretScan

structure SelectionRules where
  include? : Option (List Text) := none
  exclude : List Text := []
deriving DecidableEq, Repr

namespace SelectionRules

def defaultExcludes : List Text :=
  ["**/.git/**", "**/.hg/**", "**/.svn/**", "**/node_modules/**", "**/target/**", "**/dist/**",
   "**/build/**", "**/vendor/**", "**/__pycache__/**", "**/.venv/**", "**/venv/**",
   "*.png", "*.jpg", "*.jpeg", "*.gif", "*.ico", "*.bmp", "*.webp", "*.pdf", "*.zip",
   "*.gz", "*.tgz", "*.jar", "*.class", "*.exe", "*.dll", "*.so", "*.dylib", "*.o",
   "*.a", "*.woff", "*.woff2", "*.ttf", "*.eot", "*.mp3", "*.mp4", "*.lock"].map String.toList

def withDefaultExcludes (rules : SelectionRules) : SelectionRules :=
  { rules with
    exclude := defaultExcludes.foldl
      (fun globs glob => if globs.contains glob then globs else globs ++ [glob]) rules.exclude }

def extension? (pattern : Text) : Option Text :=
  match Text.trim pattern with
  | '*' :: '.' :: rest =>
    if rest.isEmpty || rest.any (fun c => c == '/' || c == '\\' || c == '*' || c == '?') then none
    else some ('.' :: rest)
  | _ => none

/-- A path in relative form matches a pattern. An extension is compared with the name of the file
alone, which must have something in front of it. -/
def patternMatches (path pattern : Text) : Bool :=
  match extension? pattern with
  | some extension =>
    let name := Path.lastSegment path
    extension.length < name.length && extension.isSuffixOf name
  | none => Glob.accepts path pattern

def isExcluded (rules : SelectionRules) (path : Text) : Bool :=
  rules.exclude.any (patternMatches (Path.relative path))

/-- The glob of the directories that a pattern empties: what stands in front of its final double
stars. -/
def coveredDirectory? (pattern : Text) : Option Text :=
  let form := Path.relative pattern
  if "/**".toList.isSuffixOf form then some (form.take (form.length - 3)) else none

def excludesDirectory (rules : SelectionRules) (directory : Text) : Bool :=
  let directory := Path.relative directory
  rules.exclude.any fun pattern =>
    match coveredDirectory? pattern with
    | some glob => !glob.isEmpty && Glob.accepts directory glob
    | none => false

def shouldScan (rules : SelectionRules) (path : Text) : Bool :=
  let path := Path.relative path
  !rules.isExcluded path &&
    match rules.include? with
    | none => true
    | some patterns => patterns.any (patternMatches path)

end SelectionRules

end SecretScan
