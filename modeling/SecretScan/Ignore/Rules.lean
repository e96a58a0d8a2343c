import SecretScan.Ignore.Glob
import SecretScan.Path.Component
import SecretScan.Text.Utf8

/-!
Ignore files. Each line holds a rule, and of all rules that match a path the last one decides: a
plain rule ignores the path, a rule behind an exclamation mark keeps it. A rule without a slash
inside applies at any depth below the directory of its file.
-/

namespace SecretScan.Ignore

inductive Verdict where
  | ignored
  | kept
deriving DecidableEq, Repr

structure Rule where
  verdict : Verdict
  onlyDirectories : Bool
  pattern : Pattern

inductive FaultCause where
  | rule (text : Text) (fault : GlobFault)
  | notText
  | isDirectory
deriving DecidableEq, Repr

def FaultCause.message : FaultCause → Text
  | .rule text fault => "error parsing glob '".toList ++ text ++ "': ".toList ++ fault.message
  | .notText => "stream did not contain valid UTF-8"
  | .isDirectory => "Is a directory (os error 21)"

structure FileFault where
  file : Text
  line : Option Nat
  cause : FaultCause

def FileFault.message (f : FileFault) : Text :=
  let place := match f.line with
    | some line => "line ".toList ++ Text.ofNat line ++ ": ".toList
    | none => []
  f.file ++ ": ".toList ++ place ++ f.cause.message

def stripFront (front s : Text) : Text :=
  if front.isPrefixOf s then s.drop front.length else s

/-- The rule text of a line: no white space at the end, unless the last blank is escaped. Comments
and blank lines have none. -/
def ruleText? (line : Text) : Option Text :=
  if line.head? == some '#' then none
  else
    let s := if "\\ ".toList.isSuffixOf line then line else Text.trimEnd line
    if s.isEmpty then none else some s

def splitMarks (s : Text) : Bool × Bool × Text :=
  match s with
  | '\\' :: '!' :: rest => (false, false, '!' :: rest)
  | '\\' :: '#' :: rest => (false, false, '#' :: rest)
  | '!' :: '/' :: rest => (true, true, rest)
  | '!' :: rest => (true, false, rest)
  | '/' :: rest => (false, true, rest)
  | _ => (false, false, s)

def splitSlash (glob : Text) : Bool × Text :=
  match glob.reverse with
  | '/' :: '\\' :: rest => (true, rest.reverse)
  | '/' :: rest => (true, rest.reverse)
  | _ => (false, glob)

/-- The glob with its depth spelled out: any depth where it has no slash and is not bound, and
something inside the directory where it ends in double stars. -/
def spellDepth (bound : Bool) (glob : Text) : Text :=
  let deep := glob.contains '/' || glob == "**".toList
  let glob := if bound || deep then glob else "**/".toList ++ glob
  if "/**".toList.isSuffixOf glob then glob ++ "/*".toList else glob

def Rule.read (s : Text) : Except GlobFault Rule := do
  let (keeps, bound, glob) := splitMarks s
  let (onlyDirectories, glob) := splitSlash glob
  let pattern ← compileGlob (spellDepth bound glob)
  .ok ⟨if keeps then .kept else .ignored, onlyDirectories, pattern⟩

structure Rules where
  directory : Text
  rules : List Rule

namespace Rules

def none (directory : Text) : Rules :=
  ⟨directory, []⟩

def readableLines (content : List UInt8) : List Text :=
  match Text.Utf8.decode content with
  | .ok s => Text.lines s
  | .error valid =>
    match Text.Utf8.decode (content.take valid) with
    | .ok s => (Text.splitOn '\n' s).dropLast.map Text.stripReturn
    | .error _ => []

def contentLines (content : List UInt8) : List Text :=
  match readableLines content with
  | [] => []
  | first :: rest => first.dropWhile (· == '\uFEFF') :: rest

def ofLines (file : Text) : Nat → List Text → List Rule × List FileFault
  | _, [] => ([], [])
  | number, line :: lines =>
    let (rules, faults) := ofLines file (number + 1) lines
    match ruleText? line with
    | .none => (rules, faults)
    | .some s =>
      match Rule.read s with
      | .ok rule => (rule :: rules, faults)
      | .error fault => (rules, ⟨file, some number, .rule s fault⟩ :: faults)

/-- The rules of a file and the faults in it. Rules end at the first line that is not text, which is
a fault only beside others. -/
def ofContent (file : Text) (content : List UInt8) : List Rule × List FileFault :=
  let lines := contentLines content
  let (rules, faults) := ofLines file 1 lines
  if faults.isEmpty || (Text.Utf8.decode content).isOk then (rules, faults)
  else (rules, faults ++ [⟨file, some (lines.length + 1), .notText⟩])

/-- A path relative to the directory of the rules. Names stay as they are; a path with a slash loses
the path of the directory where it begins with it. -/
def relativePath (r : Rules) (path : Text) : Text :=
  let directory := stripFront "./".toList r.directory
  let path := stripFront "./".toList path
  if Path.same directory ['.'] || !path.contains '/' || !directory.isPrefixOf path then path
  else stripFront ['/'] (path.drop directory.length)

def ruleMatches (rule : Rule) (path : Text) (isDirectory : Bool) : Bool :=
  (!rule.onlyDirectories || isDirectory) && rule.pattern.isMatch path

def verdict? (r : Rules) (path : Text) (isDirectory : Bool) : Option Verdict :=
  let path := bytesOf (r.relativePath path)
  (r.rules.reverse.find? fun rule => ruleMatches rule path isDirectory).map (·.verdict)

end Rules

end SecretScan.Ignore
