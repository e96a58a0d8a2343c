import SecretScan.FileTree.Entry
import SecretScan.Path.Component

/-!
A workspace is a file tree with a working directory. Paths are resolved in it name by name: a double
dot leads to the directory above, a link is replaced by the path that it holds, and whatever is
followed by a slash has to be a directory.
-/

namespace SecretScan

inductive PathFault where
  | notFound
  | notDirectory
  | isDirectory
  | nameTooLong
  | tooManyLinks
deriving DecidableEq, Repr

namespace PathFault

def message : PathFault → Text
  | .notFound => "No such file or directory (os error 2)"
  | .notDirectory => "Not a directory (os error 20)"
  | .isDirectory => "Is a directory (os error 21)"
  | .nameTooLong => "File name too long (os error 36)"
  | .tooManyLinks => "Too many levels of symbolic links (os error 40)"

end PathFault

structure Workspace where
  tree : Entry
  cwd : Address

namespace Workspace

def linkLimit : Nat := 40

def nameLimit : Nat := 255

def isOverlong (name : Text) : Bool :=
  nameLimit < name.foldl (fun width c => width + Text.utf8Width c) 0

def base (path : Text) (here : Address) : Address :=
  if path.head? == some '/' then [] else here

/-- Takes the segments of a path one by one. `jump` goes on from a directory behind a link; a link
that is the last segment is left alone unless `last` is set. -/
def step (tree : Entry) (jump : Address → List Text → Except PathFault Address) (last : Bool)
    (here : Address) : List Text → Except PathFault Address
  | [] => .ok here
  | s :: rest =>
    match tree.at? here with
    | some (.directory entries) =>
      if s.isEmpty || s == ['.'] then step tree jump last here rest
      else if s == ['.', '.'] then step tree jump last here.dropLast rest
      else if isOverlong s then .error .nameTooLong
      else
        match entries.lookup s with
        | none => .error .notFound
        | some (.link target) =>
          if rest.isEmpty && !last then .ok (here ++ [s])
          else if target.isEmpty then .error .notFound
          else jump (base target here) (Text.splitOn '/' target ++ rest)
        | some _ => step tree jump last (here ++ [s]) rest
    | _ => .error .notDirectory

def follow (tree : Entry) (last : Bool) : Nat → Address → List Text → Except PathFault Address
  | 0 => step tree (fun _ _ => .error .tooManyLinks) last
  | links + 1 => step tree (follow tree last links) last

def resolve (w : Workspace) (path : Text) (last : Bool) : Except PathFault Address :=
  if path.isEmpty then .error .notFound
  else follow w.tree last linkLimit (base path w.cwd) (Text.splitOn '/' path)

def entry (w : Workspace) (path : Text) : Except PathFault Entry := do
  let address ← w.resolve path true
  match w.tree.at? address with
  | some e => .ok e
  | none => .error .notFound

def pathExists (w : Workspace) (path : Text) : Bool :=
  (w.entry path).isOk

def isFile (w : Workspace) (path : Text) : Bool :=
  match w.entry path with
  | .ok e => e.isFile
  | .error _ => false

def isDirectory (w : Workspace) (path : Text) : Bool :=
  match w.entry path with
  | .ok e => e.isDirectory
  | .error _ => false

def read (w : Workspace) (path : Text) : Except PathFault (List UInt8) := do
  match ← w.entry path with
  | .file content => .ok content
  | _ => .error .isDirectory

def pathOf (address : Address) : Text :=
  '/' :: Text.join ['/'] address

/-- The absolute path without links and dots that leads where a path leads; a path that leads
nowhere is left as it is. -/
def canonical (w : Workspace) (path : Text) : Text :=
  match w.resolve path true with
  | .ok address => pathOf address
  | .error _ => path

end Workspace

end SecretScan
