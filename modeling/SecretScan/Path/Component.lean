import SecretScan.Text.Basic

/-!
Paths as sequences of components, the view in which two spellings of one path are equal. Repeated
slashes, a slash at the end and inner single dots do not count; a single dot in front and double
dots do.
-/

namespace SecretScan.Path

def rootName : Text := ['/']

def components (path : Text) : List Text :=
  let named (pieces : List Text) := pieces.filter fun s => !s.isEmpty && s != ['.']
  match path with
  | '/' :: _ => rootName :: named (Text.splitOn '/' path)
  | _ =>
    match Text.splitOn '/' path with
    | ['.'] :: rest => ['.'] :: named rest
    | pieces => named pieces

def same (a b : Text) : Bool :=
  components a == components b

/-- The first path lies at or below the second one; the result is the rest of its components. -/
def stripBase? (base path : Text) : Option (List Text) :=
  let outer := components base
  let inner := components path
  if outer.isPrefixOf inner then some (inner.drop outer.length) else none

def join (directory name : Text) : Text :=
  if name.head? == some '/' then name
  else if directory.isEmpty || directory.getLast? == some '/' then directory ++ name
  else directory ++ '/' :: name

/-- A reversed path without the slashes and single dots at its end. The slash of the root directory
and a dot that is the whole path stay. -/
def dropBlankEnd : Text → Text
  | '/' :: rest => if rest.isEmpty then ['/'] else dropBlankEnd rest
  | '.' :: '/' :: rest => dropBlankEnd ('/' :: rest)
  | other => other

def parent? (path : Text) : Option Text :=
  match dropBlankEnd path.reverse with
  | [] => none
  | ['/'] => none
  | last => some (dropBlankEnd (last.dropWhile (· != '/'))).reverse

def selfAndParents : Nat → Text → List Text
  | 0, path => [path]
  | n + 1, path =>
    match parent? path with
    | some above => path :: selfAndParents n above
    | none => [path]

def ancestors (path : Text) : List Text :=
  selfAndParents path.length path

end SecretScan.Path
